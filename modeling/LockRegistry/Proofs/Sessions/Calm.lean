import LockRegistry.Proofs.Sessions

namespace LockRegistry

variable {ι α : Type}

namespace Op

variable {x : Op α} {s : Store} {t t' : Turn ι} {l : List Sight} {r : Except LockError α}

lemma Sees.map {β : Type} {f : α → β} {r : Except LockError β} (h : (f <$> x).Sees l r) :
    ∃ r', x.Sees l r' ∧ r = r'.map f := by
  rcases Sees.bind h with ⟨a, l₁, l₂, rfl, hx, hk⟩ | ⟨e, rfl, hx⟩
  · obtain ⟨rfl, rfl⟩ := sees_done.1 hk
    exact ⟨.ok a, by rwa [List.append_nil], rfl⟩
  · exact ⟨.error e, hx, rfl⟩

variable [Regex.Engine]

lemma step_congr (asked : ∀ y ∈ x.sights s t, ∃ e, y = .asked e) (now : t'.now = t.now)
    (clock : t'.clock = t.clock) : x.step s t' = x.step s t := by
  unfold sights at asked
  unfold step
  cases ha : x.action with
  | done r => rfl
  | log e next => rfl
  | call c next => simp only [now]
  | clock next => simp only [clock]
  | token next | nap length next =>
    rw [ha] at asked
    obtain ⟨e, same⟩ := asked _ (List.mem_singleton_self _)
    cases same

end Op

def Turn.calm [DecidableEq ι] (i : ι) (t : Turn ι) : Turn ι :=
  if t.session = i then { t with fired := false } else t

namespace Sessions

variable [DecidableEq ι] {σ : Sessions ι α} {i : ι} {h h' : List (Turn ι)}

variable [Regex.Engine]

lemma step_congr {t t' : Turn ι} (same : t'.calm i = t.calm i)
    (asked : t.session = i → ∀ y ∈ (σ.op i).sights σ.store t, ∃ e, y = .asked e) :
    σ.step t' = σ.step t := by
  unfold Turn.calm at same
  by_cases own : t.session = i
  · rw [if_pos own] at same
    split at same
    · rename_i own'
      obtain ⟨-, now, clock, -⟩ := Turn.mk.inj same
      have steps := Op.step_congr (asked own) now clock
      unfold step
      rw [own, own', steps]
    · rename_i other
      exact absurd ((congrArg Turn.session same).trans own) other
  · rw [if_neg own] at same
    split at same
    · rename_i own'
      exact absurd ((congrArg Turn.session same).symm.trans own') own
    · rw [same]

lemma run_congr (same : h'.map (Turn.calm i) = h.map (Turn.calm i))
    (asked : ∀ y ∈ σ.sights i h, ∃ e, y = .asked e) : σ.run h' = σ.run h := by
  induction h generalizing σ h' with
  | nil =>
    rw [List.map_nil, List.map_eq_nil_iff] at same
    rw [same]
  | cons t h ih =>
    obtain ⟨t', h', rfl, first, rest⟩ := List.map_eq_cons_iff.1 same
    have own (mine : t.session = i) : ∀ y ∈ (σ.op i).sights σ.store t, ∃ e, y = .asked e :=
      fun y hy => asked y (List.mem_append_left _ (by rwa [if_pos mine]))
    calc (σ.step t').run h' = (σ.step t).run h' := by rw [step_congr first own]
      _ = (σ.step t).run h := ih rest fun y hy => asked y (List.mem_append_right _ hy)

end Sessions

end LockRegistry
