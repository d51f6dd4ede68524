import LockRegistry.Proofs.Grant
import LockRegistry.Proofs.Operation.Calls
import LockRegistry.Proofs.Store.Rows

/-! Every grant in a store is made of masks, whatever operations led to the store. -/

namespace LockRegistry

namespace Authority

variable {office project application : String} {grants : List Grant} {g : Grant}

lemma normalize_of_caller? {user : Option String} {u : String} (h : caller? user = .ok (some u)) :
    ∃ raw, user = some raw ∧ (Text.trim raw).isEmpty = false ∧
      Field.user.normalize raw = .ok u := by
  cases user with
  | none => cases h
  | some raw =>
    unfold caller? at h
    dsimp only at h
    split at h
    · cases h
    · rename_i full
      obtain ⟨_, hu, ⟨⟩⟩ := map_eq_ok.1 h
      exact ⟨raw, rfl, Bool.not_eq_true _ ▸ full, hu⟩

lemma caller?_eq_some {user : Option String} {u : String} (h : caller? user = .ok (some u)) :
    u ≠ "" ∧ ∃ raw, user = some raw ∧ u = Text.trim raw := by
  obtain ⟨raw, rfl, full, hu⟩ := normalize_of_caller? h
  obtain rfl : u = Text.trim raw := Field.eq_casing_of_normalize hu
  refine ⟨fun blank => ?_, raw, rfl, rfl⟩
  rw [blank] at full
  cases full

lemma Question.of_ofRaw {user : Option String} {q : Question}
    (h : Question.ofRaw office user project application = .ok q) :
    Field.office.normalize office = .ok q.office ∧
      Field.project.normalize project = .ok q.project ∧
      Field.application.normalize application = .ok q.application ∧
      caller? user = .ok q.caller := by
  obtain ⟨o, ho, h₁⟩ := bind_eq_ok.1 h
  obtain ⟨p, hp, h₂⟩ := bind_eq_ok.1 h₁
  obtain ⟨a, ha, h₃⟩ := bind_eq_ok.1 h₂
  obtain ⟨c, hc, h₄⟩ := bind_eq_ok.1 h₃
  cases h₄
  exact ⟨ho, hp, ha, hc⟩

variable [Regex.Engine]

lemma firstCovering_eq_some (h : firstCovering office project application grants = .ok (some g)) :
    g ∈ grants ∧ g.covers office project application = .ok true := by
  induction grants with
  | nil => cases h
  | cons g' grants ih =>
    obtain ⟨b, hb, rest⟩ := bind_eq_ok.1 h
    cases b with
    | true =>
      cases rest
      exact ⟨List.mem_cons_self, hb⟩
    | false =>
      obtain ⟨mem, covers⟩ := ih rest
      exact ⟨List.mem_cons_of_mem _ mem, covers⟩

lemma firstCovering_total (h : ∀ g ∈ grants, ∃ b, g.covers office project application = .ok b) :
    ∃ found, firstCovering office project application grants = .ok found ∧
      (found.isSome = true ↔ ∃ g ∈ grants, g.covers office project application = .ok true) := by
  induction grants with
  | nil => exact ⟨none, rfl, by simp⟩
  | cons g grants ih =>
    obtain ⟨b, hb⟩ := h g List.mem_cons_self
    cases b with
    | true =>
      refine ⟨some g, by rw [firstCovering, hb, ok_bind]; rfl, ?_⟩
      exact iff_of_true rfl ⟨g, List.mem_cons_self, hb⟩
    | false =>
      obtain ⟨found, hf, exact⟩ := ih fun g' hg => h g' (List.mem_cons_of_mem _ hg)
      refine ⟨found, by rw [firstCovering, hb, ok_bind]; exact hf, ?_⟩
      simp [exact, hb]

lemma made_of_newGrant {officeMask projectMask applicationMask user : String} {new : NewGrant}
    (h : newGrant office officeMask projectMask applicationMask user = .ok new) :
    (∃ raw, new.key.office = Text.upper raw) ∧
      (∃ raw m, Mask.ofString raw = .ok m ∧ new.officeMask = Text.upper m.pattern) ∧
      (∃ raw m, Mask.ofString raw = .ok m ∧ new.key.projectMask = m.pattern) ∧
      ∃ raw m, Mask.ofString raw = .ok m ∧ new.key.applicationMask = Text.lower m.pattern := by
  obtain ⟨key, hk, hn⟩ := bind_eq_ok.1 h
  obtain ⟨om, hom, hn'⟩ := bind_eq_ok.1 hn
  cases hn'
  obtain ⟨o, ho, h₁⟩ := bind_eq_ok.1 hk
  obtain ⟨u, hu, h₂⟩ := bind_eq_ok.1 h₁
  obtain ⟨pm, hpm, h₃⟩ := bind_eq_ok.1 h₂
  obtain ⟨am, ham, h₄⟩ := bind_eq_ok.1 h₃
  cases h₄
  exact ⟨⟨_, Field.eq_casing_of_normalize ho⟩, ⟨_, om, hom, rfl⟩, ⟨_, pm, hpm, rfl⟩,
    ⟨_, am, ham, rfl⟩⟩

end Authority

variable [Regex.Engine]

lemma Operation.MayCall.newGrant {o : Operation} {new : NewGrant}
    (h : o.MayCall (.upsertGrant new)) :
    ∃ office officeMask projectMask applicationMask user,
      Authority.newGrant office officeMask projectMask applicationMask user = .ok new := by
  cases o with
  | allow office officeMask projectMask applicationMask user =>
    obtain ⟨_, hn, hc⟩ := h
    cases hc
    exact ⟨_, _, _, _, _, hn⟩
  | update office user projectMask applicationMask officeMask allowed =>
    cases allowed with
    | true =>
      obtain ⟨_, hn, hc⟩ := h
      cases hc
      exact ⟨_, _, _, _, _, hn⟩
    | false =>
      obtain ⟨_, _, hc⟩ := h
      cases hc
  | _ => simp [Operation.MayCall] at h

namespace Store

def Sound (s : Store) : Prop := ∀ key g, s.grants.find? key = some g → g.Sound

variable {s : Store}

lemma sound_empty : empty.Sound := fun _ _ h => by cases h

lemma Sound.apply (h : s.Sound) {o : Operation} {c : Call} (hc : o.MayCall c) (now : Timestamp) :
    (s.apply now c).2.Sound := by
  intro key g hg
  have step := grantStep s now key c
  rw [hg] at step
  generalize hr : s.grants.find? key = row at step
  cases step with
  | kept => exact h key g hr
  | made new own =>
    obtain ⟨_, _, _, _, _, hn⟩ := hc.newGrant
    obtain ⟨office, om, pm, am⟩ := Authority.made_of_newGrant hn
    exact ⟨office, om, pm, am⟩
  | refreshed new own old =>
    obtain ⟨_, _, _, _, _, hn⟩ := hc.newGrant
    obtain ⟨-, om, -, -⟩ := Authority.made_of_newGrant hn
    have sound := h key old hr
    exact ⟨sound.office, om, sound.projectMask, sound.applicationMask⟩

lemma Reachable.sound (h : s.Reachable) : s.Sound :=
  h.induction sound_empty fun _ _ now _ hc hs => hs.apply hc now

lemma Sound.of_mem (h : s.Sound) {g : Grant} (hg : g ∈ s.grants.values) : g.Sound := by
  obtain ⟨key, found⟩ := Table.mem_values_iff.1 hg
  exact h key g found

omit [Regex.Engine] in
lemma mem_grantsOf {user : String} {g : Grant} :
    g ∈ s.grantsOf user ↔ g ∈ s.grants.values ∧ g.user = user := by
  simp [grantsOf]

lemma Sound.verdict (byCount : Mask.CompilesByCount) (h : s.Sound) {key : LockKey}
    (capital : ∃ raw, key.office = Text.upper raw) (user : String) :
    ∃ found, Authority.firstCovering key.office key.project key.application (s.grantsOf user) =
        .ok found ∧
      (found.isSome = true ↔ ∃ g ∈ s.grants.values, g.Permits user key) := by
  obtain ⟨office, project, application⟩ := key
  obtain ⟨raw, rfl⟩ := capital
  have sound (g : Grant) (mem : g ∈ s.grantsOf user) : g.Sound := h.of_mem (mem_grantsOf.1 mem).1
  obtain ⟨found, verdict, exact⟩ := Authority.firstCovering_total fun g mem =>
    (sound g mem).covers byCount
  refine ⟨found, verdict, exact.trans ?_⟩
  constructor
  · rintro ⟨g, mem, covers⟩
    obtain ⟨stored, rfl⟩ := mem_grantsOf.1 mem
    exact ⟨g, stored, ((sound g mem).covers_iff raw).1 covers⟩
  · rintro ⟨g, stored, permits⟩
    have mem := mem_grantsOf.2 ⟨stored, permits.user⟩
    exact ⟨g, mem, ((sound g mem).covers_iff raw).2 (permits.user.symm ▸ permits)⟩

end Store

lemma Sessions.sound_instant {ι : Type} [DecidableEq ι] (calls : ι → Operation)
    (h : List (Turn ι)) (n : Nat) : (Store.empty.instant ((start calls).journal h) n).Sound :=
  instant_induction Store.sound_empty (fun _ _ now _ hc hs => hs.apply hc now) n

end LockRegistry
