import LockRegistry.Proofs.Locking.Tenure
import LockRegistry.Proofs.Operation.Calls
import LockRegistry.Regex.Runner

/-! What it means that a request ran out of time. Its last look is at the key only: the lock that it
sees may be another's than the one that it had found. -/

namespace LockRegistry.Sessions

variable [Regex.Engine] {ι : Type} [DecidableEq ι]

def Watches (calls : ι → Operation) (h : List (Turn ι)) (i : ι) (f t : Nat) (key : LockKey) :
    Prop :=
  f < t ∧ (∃ now, ((start calls).journal h)[f]? = some ⟨i, now, .findLock key⟩) ∧
    (∃ now, ((start calls).journal h)[t]? = some ⟨i, now, .lockExists key⟩) ∧
    ∀ n e, t < n → ((start calls).journal h)[n]? = some e → e.session ≠ i

variable {calls : ι → Operation} {h : List (Turn ι)} {i : ι} {key : LockKey} {waitedMs : Nat}

lemma watches_of_split {l₁ l₂ : List Exchange} {found : Option Lock}
    (split : exchanges i .empty ((start calls).journal h) =
      (l₁ ++ ⟨.findLock key, found⟩ :: l₂) ++ [⟨.lockExists key, true⟩])
    (marks : ∀ lock, found = some lock →
      ∃ user stamped l₃, l₂ = ⟨.markRevocation key lock.lockId user, stamped⟩ :: l₃) :
    ∃ f t row, Watches calls h i f t key ∧
      Store.empty.lockAt ((start calls).journal h) t key = some row ∧
      ∀ lock, Store.empty.lockAt ((start calls).journal h) f key = some lock →
        ∃ g now user, f < g ∧ g < t ∧ ((start calls).journal h)[g]? =
          some ⟨i, now, .markRevocation key lock.lockId user⟩ := by
  obtain ⟨t, e, ht, own, hx, early⟩ := exchanges_split split
  obtain ⟨-, row, held⟩ := Entry.looked hx
  have look := Entry.eq_of_exchange own hx ▸ ht
  -- what the session asked for later would be an exchange after its last
  have last (n : Nat) (e' : Entry ι) (after : t < n)
      (hn : ((start calls).journal h)[n]? = some e') : e'.session ≠ i := by
    intro own'
    obtain ⟨l, l', again⟩ := exchanges_pair .empty ht hn after own own'
    have lengths := congrArg List.length (again.symm.trans split)
    rw [early] at lengths
    simp at lengths
  cases found with
  | none =>
    -- the holder had gone before it could be found, and nothing was stamped
    obtain ⟨f, e', hf, he, own', hx', -⟩ := exchanges_split_take early
    obtain ⟨-, free⟩ := Entry.found hx'
    have find := Entry.eq_of_exchange own' hx' ▸ he
    refine ⟨f, t, row, ⟨hf, ⟨_, find⟩, ⟨_, look⟩, last⟩, held, fun lock hl => ?_⟩
    cases free.symm.trans hl
  | some lock =>
    obtain ⟨user, stamped, l₃, rfl⟩ := marks lock rfl
    rw [List.append_cons] at early
    obtain ⟨g, e', hg, he, own', hx', earlier⟩ := exchanges_split_take early
    have mark := Entry.eq_of_exchange own' hx' ▸ he
    obtain ⟨f, e'', hf, he', own'', hx'', -⟩ := exchanges_split_take earlier
    obtain ⟨-, found⟩ := Entry.found hx''
    have find := Entry.eq_of_exchange own'' hx'' ▸ he'
    refine ⟨f, t, row, ⟨hf.trans hg, ⟨_, find⟩, ⟨_, look⟩, last⟩, held, fun lock' hl => ?_⟩
    obtain rfl := Option.some.inj (found.symm.trans hl)
    exact ⟨g, _, user, hf, hg, mark⟩

/-- The lock that is seen last is the one that was found, exactly if no call has deleted that one
since. -/
theorem revokeTimedOut_iff (timedOut : Returns calls h i key (.revokeTimedOut waitedMs)) :
    let j := (start calls).journal h
    ∃ f t row, Watches calls h i f t key ∧ Store.empty.lockAt j t key = some row ∧
      (Store.empty.Stays j f t key ↔
        (∃ holder, Store.empty.lockAt j f key = some holder) ∧
          ∀ d, f ≤ d → d < t → ¬ Store.empty.Deletes j d key) ∧
      (Store.empty.Stays j f t key →
        ∃ holder g now user, Store.empty.lockAt j f key = some holder ∧ f < g ∧ g < t ∧
          j[g]? = some ⟨i, now, .markRevocation key holder.lockId user⟩ ∧
          row.unstamped = holder.unstamped ∧ row.revokeRequestedBy.isSome = true) ∧
      (¬ Store.empty.Stays j f t key →
        ∃ m i' lockId, f ≤ m ∧ m < t ∧ i' ≠ i ∧ Store.empty.Inserts j m i' key lockId ∧
          Store.empty.Stays j (m + 1) t key) := by
  intro j
  obtain ⟨r, caller, freshId, rfl, requests⟩ := timedOut.requests
  obtain ⟨l₁, l₂, found, split, nothing, marks⟩ := requests.timesOut
  obtain ⟨f, t, row, watches, held, marked⟩ := watches_of_split split marks
  have before : f ≤ t := watches.1.le
  refine ⟨f, t, row, watches, held, ⟨?_, ?_⟩, ?_, ?_⟩
  · intro stays
    exact ⟨(stays.mono before).held le_rfl, fun d hd hd' => stays.not_deletes hd hd'⟩
  · rintro ⟨⟨holder, hf⟩, undeleted⟩
    exact (Store.stays_iff hf before).2 undeleted
  · intro stays
    obtain ⟨holder, hf, still⟩ := id stays
    obtain ⟨g, now, user, hg, hg', mark⟩ := marked holder hf
    obtain ⟨row₁, held₁, same₁⟩ := still g hg.le hg'.le
    obtain ⟨row₂, held₂, same₂⟩ := still t before le_rfl
    obtain rfl := Option.some.inj (held.symm.trans held₂)
    have lockId : holder.lockId = row₁.lockId := (congrArg Lock.lockId same₁).symm
    have stamped := Store.lockAt_stamped (lockId ▸ mark) held₁
    obtain ⟨row₃, held₃, asked⟩ := stays.stamped (hg.le.trans g.le_succ) hg' stamped rfl
    obtain rfl := Option.some.inj (held.symm.trans held₃)
    exact ⟨holder, g, now, user, hf, hg, hg', mark, same₂, asked⟩
  · intro gone
    rcases Store.stays_or_inserted held before with stays | ⟨m, i', lockId, hm, hm', inserts, stays⟩
    · exact absurd stays gone
    · refine ⟨m, i', lockId, hm, hm', ?_, inserts, stays⟩
      rintro rfl
      exact Store.not_inserts nothing inserts

end LockRegistry.Sessions

namespace LockRegistry.Sessions

attribute [local instance] Regex.runner

def takenKey : LockKey := ⟨"OSL", "fence", "editor"⟩

def takeover : Nat → Operation
  | 0 => .allow "osl" "*" "*" "*" "adm"
  | 1 => .request ⟨250, 10⟩ { key := takenKey } none "a"
  | 2 => .request ⟨250, 10⟩ (LockRequest.revoking { key := takenKey } 0) (some "adm") "b"
  | 3 => .release "osl" "a"
  | _ => .request ⟨250, 10⟩ { key := takenKey } none "c"

def takeoverTurns : List (Turn Nat) :=
  ([0, 0, 1, 1] ++ List.replicate 6 2 ++ [3, 3, 4, 4] ++ List.replicate 10 2).map
    fun i => { session := i, now := .ofNanos 0 }

theorem revokeTimedOut_iff_takeover : ∃ f t row, Watches takeover takeoverTurns 2 f t takenKey ∧
    Store.empty.lockAt ((start takeover).journal takeoverTurns) t takenKey = some row := by
  have returns : Returns takeover takeoverTurns 2 takenKey (.revokeTimedOut 0) :=
    ⟨_, _, _, _, rfl, rfl, rfl⟩
  obtain ⟨f, t, row, watches, held, -⟩ := revokeTimedOut_iff returns
  exact ⟨f, t, row, watches, held⟩

theorem revokeTimedOut_by_another :
    Returns takeover takeoverTurns 2 takenKey (.revokeTimedOut 0) ∧
      Watches takeover takeoverTurns 2 4 8 takenKey ∧
      (Store.empty.lockAt ((start takeover).journal takeoverTurns) 4 takenKey).map (·.lockId) =
        some "a" ∧
      (Store.empty.lockAt ((start takeover).journal takeoverTurns) 8 takenKey).map
        (fun l => (l.lockId, l.revokeRequestedBy)) = some ("c", none) := by
  refine ⟨⟨_, _, _, _, rfl, rfl, rfl⟩, ⟨by decide, ⟨_, rfl⟩, ⟨_, rfl⟩, ?_⟩, rfl, rfl⟩
  intro n e after he
  have short : ((start takeover).journal takeoverTurns).length = 9 := rfl
  rw [List.getElem?_eq_none (by omega)] at he
  cases he

end LockRegistry.Sessions
