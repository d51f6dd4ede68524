import LockRegistry.Proofs.Authority.Changes
import LockRegistry.Proofs.Authority.Verdicts
import LockRegistry.Proofs.Mask.Recased
import LockRegistry.Regex.Runner

/-! Whether the texts that made a grant select it again, though it keeps them in other case. -/

namespace LockRegistry

namespace Mask

open Text

lemma lasting_kept {letter : Char → List Char} (star : Lasts letter runWildcard) {raw : String} :
    Lasting letter (kept raw) ↔ Lasting letter (trim raw) := by
  unfold kept isStars
  split
  · rename_i stars
    have single : ("*" : String).toList = [runWildcard] := rfl
    simp only [List.all_eq_true, beq_iff_eq] at stars
    simp only [Lasting, single, List.mem_singleton, forall_eq]
    exact iff_of_true star fun c hc => stars c hc ▸ star
  · rfl

variable [Regex.Engine]

lemma accepts_upper_kept {raw : String} : (⟨kept raw⟩ : Mask).accepts (upper (kept raw)) = true ↔
    Lasting upperLetter (trim raw) := by
  have star : Lasts upperLetter runWildcard := by decide
  rw [accepts_upper, lasting_kept star]

lemma accepts_lower_kept {raw : String} : (⟨kept raw⟩ : Mask).accepts (lower (kept raw)) = true ↔
    Lasting lowerLetter (trim raw) := by
  have star : Lasts lowerLetter runWildcard := by decide
  rw [accepts_lower, lasting_kept star]

end Mask

namespace Authority

open Text

variable [Regex.Engine] {ι : Type} {s s' : Store} {t t' : Turn ι} {ts : List (Turn ι)} {g : Grant}
  {office officeMask projectMask applicationMask user : String}

structure Made (office officeMask projectMask applicationMask user : String) (s' : Store)
    (g : Grant) : Prop where
  accepted : (GrantCall.allow office officeMask projectMask applicationMask user).Accepted
  key : g.key = .kept office user projectMask applicationMask
  officeMask : g.officeMask = upper (Mask.kept officeMask)
  held : s'.grants.find? g.key = some g

lemma made_of_allow (hs : s.Reachable)
    (h : (Operation.allow office officeMask projectMask applicationMask user).op.steps s
      (t :: t' :: ts) = (.done (.ok (.grant g)), s')) :
    Made office officeMask projectMask applicationMask user s' g := by
  have accepted :
      (GrantCall.allow office officeMask projectMask applicationMask user).Accepted := by
    by_contra refused
    obtain ⟨e, fails⟩ := GrantCall.refused refused
    rw [GrantCall.operation] at fails
    rw [fails] at h
    cases (Op.steps_done ..).symm.trans h
  obtain ⟨ho, hu, hp, ha, hm⟩ := id accepted
  have key := GrantCall.ofRaw_of_takes ho hu hp ha
  have new := GrantCall.ofRaw_newGrant hm (.kept office user projectMask applicationMask)
  rw [GrantCall.steps_allow key new] at h
  cases h
  have held := s.find?_upsertGrant t.now
    ⟨.kept office user projectMask applicationMask, upper (Mask.kept officeMask)⟩
  have mayCall : (Operation.allow office officeMask projectMask applicationMask user).MayCall
      (.upsertGrant ⟨.kept office user projectMask applicationMask,
        upper (Mask.kept officeMask)⟩) :=
    ⟨_, by rw [newGrant, key, ok_bind, new], rfl⟩
  have own := (hs.placed.apply mayCall t.now).grants _ _ held
  exact ⟨accepted, own, s.officeMask_upsertGrant .., own ▸ held⟩

lemma step_listGrants (filter : CatalogFilter) (s : Store) (t : Turn ι) :
    (Operation.listGrants filter).op.step s t = (.done (.ok (.grants (s.listGrants filter))), s) :=
  rfl

section Selections

variable (made : Made office officeMask projectMask applicationMask user s' g)

include made

lemma Made.listed : (⟨⟨Mask.kept office⟩, ⟨Mask.kept projectMask⟩, ⟨Mask.kept applicationMask⟩⟩ :
    CatalogFilter).accepts g.office g.projectMask g.applicationMask = true ↔
      Lasting upperLetter (trim office) ∧ Lasting lowerLetter (trim applicationMask) := by
  obtain ⟨own, -, project, application⟩ := GrantKey.mk.inj made.key
  have still : (⟨Mask.kept projectMask⟩ : Mask).accepts (Mask.kept projectMask) = true :=
    Mask.accepts_self _
  rw [CatalogFilter.accepts, own, project, application, still, Bool.and_true, Bool.and_eq_true,
    Mask.accepts_lower_kept, Mask.kept_of_takes made.accepted.1, Mask.accepts_upper]

lemma Made.cleared : Store.isCleared (upper (trim office)) ⟨Mask.kept officeMask⟩
    ⟨Mask.kept applicationMask⟩ (trim user) g = true ↔
      Lasting upperLetter (trim officeMask) ∧ Lasting lowerLetter (trim applicationMask) := by
  obtain ⟨own, name, -, application⟩ := GrantKey.mk.inj made.key
  rw [Store.isCleared, own, name, application, made.officeMask, beq_self_eq_true,
    beq_self_eq_true, Bool.true_and, Bool.true_and, Bool.and_eq_true, Mask.accepts_upper_kept,
    Mask.accepts_lower_kept]

end Selections

/-- The listing shows the grant just when all letters of the office and of the application mask
last, and the removal takes it away just when those of the two masks do. -/
theorem reselection (hs : s.Reachable)
    (h : (Operation.allow office officeMask projectMask applicationMask user).op.steps s
      (t :: t' :: ts) = (.done (.ok (.grant g)), s')) :
    (∃ filter, CatalogFilter.ofRaw projectMask applicationMask office = .ok filter ∧
      ∀ u : Turn ι, ∃ grants,
        (Operation.listGrants filter).op.step s' u = (.done (.ok (.grants grants)), s') ∧
        (g ∈ grants ↔
          Lasting upperLetter (trim office) ∧ Lasting lowerLetter (trim applicationMask))) ∧
    ∀ (u u' : Turn ι) (us : List (Turn ι)), ∃ n s'',
      (Operation.removeAll office officeMask applicationMask user).op.steps s' (u :: u' :: us) =
        (.done (.ok (.count n)), s'') ∧
      s''.grants.find? g.key =
        if Lasting upperLetter (trim officeMask) ∧ Lasting lowerLetter (trim applicationMask) then
          none
        else some g := by
  have made := made_of_allow hs h
  obtain ⟨ho, hu, hp, ha, hm⟩ := made.accepted
  have compiled (raw : String) (takes : Mask.Takes raw) :
      Mask.ofOption (some raw) = .ok ⟨Mask.kept raw⟩ := by
    rw [Mask.ofOption, Mask.ofString_of_takes takes]
  constructor
  · have filter : CatalogFilter.ofRaw projectMask applicationMask office =
        .ok ⟨⟨Mask.kept office⟩, ⟨Mask.kept projectMask⟩, ⟨Mask.kept applicationMask⟩⟩ := by
      simp only [CatalogFilter.ofRaw, compiled _ hp, compiled _ ha,
        compiled _ (Mask.takes_of_field ho), ok_bind]
      rfl
    have mem : g ∈ s'.grants.values := Table.mem_values_iff.2 ⟨_, made.held⟩
    refine ⟨_, filter, fun u => ⟨_, step_listGrants _ s' u, ?_⟩⟩
    exact List.mem_filter.trans ((and_iff_right mem).trans made.listed)
  · intro u u' us
    have steps : (Operation.removeAll office officeMask applicationMask user).op.steps s'
        (u :: u' :: us) = _ :=
      GrantCall.steps_removeAll ho.normalize hu.normalize (compiled _ hm) (compiled _ ha)
    refine ⟨_, _, steps, ?_⟩
    rw [Store.deleteGrants, Table.find?_filter, made.held, Option.filter_some]
    by_cases lasting :
      Lasting upperLetter (trim officeMask) ∧ Lasting lowerLetter (trim applicationMask)
    · have cleared := made.cleared.2 lasting
      simp [Field.casing, cleared, lasting]
    · have stays := mt made.cleared.1 lasting
      simp [Field.casing, stays, lasting]

end Authority

namespace Authority

open Text

attribute [local instance] Regex.runner

theorem reselection_lost : ¬ ∀ (s s' : Store) (t t' : Turn Nat)
    (office officeMask projectMask applicationMask user : String) (g : Grant), s.Reachable →
      (Operation.allow office officeMask projectMask applicationMask user).op.steps s [t, t'] =
        (.done (.ok (.grant g)), s') →
      (∃ filter grants, CatalogFilter.ofRaw projectMask applicationMask office = .ok filter ∧
        (Operation.listGrants filter).op.step s' t = (.done (.ok (.grants grants)), s') ∧
        g ∈ grants) ∧
      ∃ n s'', (Operation.removeAll office officeMask applicationMask user).op.steps s' [t, t'] =
        (.done (.ok (.count n)), s'') ∧ s''.grants.find? g.key = none := by
  intro selects
  have reachable : Store.empty.Reachable := ⟨fun _ => .listGrants {}, [], rfl⟩
  obtain ⟨-, n, s'', removes, gone⟩ :=
    selects .empty _ turn turn "ß" "ß" "*" "a" "u" _ reachable rfl
  cases removes
  revert gone
  decide

theorem reselection_granted :
    (∃ filter grants,
      CatalogFilter.ofRaw (some "fen?e") (some "*") (some "straße") = .ok filter ∧
      (Operation.listGrants filter).op.step granted turn =
        (.done (.ok (.grants grants)), granted) ∧ grant ∉ grants) ∧
    ∃ n s'', (Operation.removeAll "straße" (some "stra*") (some "*") " alice ").op.steps granted
      [turn, turn] = (.done (.ok (.count n)), s'') ∧ s''.grants.find? grant.key = none := by
  have reachable : Store.empty.Reachable := ⟨fun _ => .listGrants {}, [], rfl⟩
  obtain ⟨⟨filter, compiled, lists⟩, removes⟩ := reselection (g := grant) reachable
    (show (Operation.allow "straße" "stra*" "fen?e" "*" " alice ").op.steps .empty [turn, turn] =
      (.done (.ok (.grant grant)), granted) from rfl)
  obtain ⟨grants, listed, selected⟩ := lists turn
  obtain ⟨n, s'', removed, left⟩ := removes turn turn []
  have lost : ¬ Lasting upperLetter (trim "straße") := by decide +kernel
  have lasting : Lasting upperLetter (trim "stra*") ∧ Lasting lowerLetter (trim "*") := by
    decide +kernel
  rw [if_pos lasting] at left
  exact ⟨⟨filter, grants, compiled, listed, fun mem => lost (selected.1 mem).1⟩, n, s'', removed,
    left⟩

end Authority

end LockRegistry
