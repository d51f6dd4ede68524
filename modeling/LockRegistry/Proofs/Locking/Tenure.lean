import LockRegistry.Proofs.Locking.Courses
import LockRegistry.Proofs.Sessions
import LockRegistry.Proofs.Store.Rows
import Mathlib.Data.Nat.Init
import Mathlib.Order.Nat

namespace LockRegistry

def Lock.unstamped (l : Lock) : Lock :=
  { l with revokeRequestedBy := none, revokeRequestedAt := none }

def Call.Removes (c : Call) (key : LockKey) (row : Lock) : Prop :=
  c = .deleteLockNamed row.office row.lockId ∨ c = .deleteLock key

variable [Regex.Engine]

lemma Entry.inserted {ι : Type} {s : Store} {e : Entry ι} {l : NewLock} {row : Lock}
    (h : ⟨.insertLock l, some row⟩ = e.exchange s) :
    e.call = .insertLock l ∧ s.locks.find? l.key = none ∧ row = l.toLock e.now := by
  obtain ⟨hc, hr⟩ := answered h
  simp only [Store.apply, Store.insertLock, Table.contains_eq_isSome] at hr
  split at hr
  · cases hr
  · rename_i free
    exact ⟨hc, Option.not_isSome_iff_eq_none.1 free, Option.some.inj hr⟩

lemma Entry.found {ι : Type} {s : Store} {e : Entry ι} {key : LockKey} {holder : Option Lock}
    (h : ⟨.findLock key, holder⟩ = e.exchange s) :
    e.call = .findLock key ∧ s.locks.find? key = holder := by
  obtain ⟨hc, hr⟩ := answered h
  exact ⟨hc, hr.symm⟩

lemma Entry.looked {ι : Type} {s : Store} {e : Entry ι} {key : LockKey}
    (h : ⟨.lockExists key, true⟩ = e.exchange s) :
    e.call = .lockExists key ∧ ∃ row, s.locks.find? key = some row := by
  obtain ⟨hc, held⟩ := answered h
  simp only [Store.apply, Table.contains_eq_isSome] at held
  exact ⟨hc, Option.isSome_iff_exists.1 held.symm⟩

namespace Store

variable {ι : Type} {now : Timestamp} {key : LockKey} {c : Call} {row : Lock} {row' : Option Lock}

omit [Regex.Engine] in
lemma LockStep.of_held (h : LockStep now key c (some row) row') :
    (∃ l, row' = some l ∧ l.unstamped = row.unstamped ∧
      (row.revokeRequestedBy.isSome = true → l.revokeRequestedBy.isSome = true)) ∨
    row' = none ∧ c.Removes key row := by
  cases h with
  | kept => exact .inl ⟨row, rfl, rfl, id⟩
  | stamped l user => exact .inl ⟨_, rfl, rfl, fun _ => rfl⟩
  | revoked => exact .inr ⟨rfl, .inr rfl⟩
  | released l office lockId named =>
    simp only [Lock.isNamed, Bool.and_eq_true, beq_iff_eq] at named
    obtain ⟨rfl, rfl⟩ := named
    exact .inr ⟨rfl, .inl rfl⟩

omit [Regex.Engine] in
lemma LockStep.of_free (h : LockStep now key c none row') :
    row' = none ∨ ∃ l : NewLock, c = .insertLock l ∧ l.key = key ∧ row' = some (l.toLock now) := by
  cases h with
  | kept => exact .inl rfl
  | inserted l own => exact .inr ⟨l, rfl, own, rfl⟩

section Journal

variable (s : Store) (j : List (Entry ι))

def lockAt (n : Nat) (key : LockKey) : Option Lock := (s.instant j n).locks.find? key

def Inserts (m : Nat) (i : ι) (key : LockKey) (lockId : String) : Prop :=
  ∃ now l, j[m]? = some ⟨i, now, .insertLock l⟩ ∧ l.key = key ∧ l.lockId = lockId ∧
    s.lockAt j m key = none ∧ s.lockAt j (m + 1) key = some (l.toLock now)

def Deletes (d : Nat) (key : LockKey) : Prop :=
  ∃ e row, j[d]? = some e ∧ s.lockAt j d key = some row ∧ e.call.Removes key row ∧
    s.lockAt j (d + 1) key = none

def Stays (f t : Nat) (key : LockKey) : Prop :=
  ∃ row, s.lockAt j f key = some row ∧
    ∀ u, f ≤ u → u ≤ t → ∃ row', s.lockAt j u key = some row' ∧ row'.unstamped = row.unstamped

variable {s j} {f m n t : Nat} {i : ι} {lockId : String}

lemma lockAt_step {e : Entry ι} (he : j[n]? = some e) (key : LockKey) :
    LockStep e.now key e.call (s.lockAt j n key) (s.lockAt j (n + 1) key) := by
  rw [lockAt, lockAt, instant_succ_of_getElem? he]
  exact lockStep ..

lemma lockAt_succ_of_none (he : j[n]? = none) (key : LockKey) :
    s.lockAt j (n + 1) key = s.lockAt j n key := by
  rw [lockAt, lockAt, instant_succ, he]
  rfl

lemma lockAt_stamped {user : String} {row : Lock}
    (he : j[n]? = some ⟨i, now, .markRevocation key row.lockId user⟩)
    (held : s.lockAt j n key = some row) :
    s.lockAt j (n + 1) key = some (row.stamped user now) := by
  rw [lockAt] at held
  rw [lockAt, instant_succ_of_getElem? he]
  simp only [Entry.after, apply, markRevocation, held, if_true, Table.find?_modify_self,
    Option.map_some]

lemma lockAt_inserted {l : NewLock} (he : j[m]? = some ⟨i, now, .insertLock l⟩)
    (free : s.lockAt j m l.key = none) : s.lockAt j (m + 1) l.key = some (l.toLock now) := by
  have held := Table.contains_eq_isSome (s.instant j m).locks l.key
  rw [lockAt] at free
  rw [lockAt, instant_succ_of_getElem? he]
  simp only [Entry.after, apply, insertLock]
  rw [if_neg (by simp [held, free])]
  exact Table.find?_insert_self ..

lemma Inserts.of_free {l : NewLock} (he : j[m]? = some ⟨i, now, .insertLock l⟩)
    (free : s.lockAt j m l.key = none) : s.Inserts j m i l.key l.lockId :=
  ⟨now, l, he, rfl, rfl, free, lockAt_inserted he free⟩

lemma Inserts.lockAt_succ (h : s.Inserts j m i key lockId) :
    ∃ row, s.lockAt j (m + 1) key = some row := by
  obtain ⟨now, l, -, -, -, -, held⟩ := h
  exact ⟨_, held⟩

lemma lockAt_succ_of_held {row : Lock} (held : s.lockAt j n key = some row) :
    (∃ row', s.lockAt j (n + 1) key = some row' ∧ row'.unstamped = row.unstamped ∧
      (row.revokeRequestedBy.isSome = true → row'.revokeRequestedBy.isSome = true)) ∨
    s.Deletes j n key := by
  cases he : j[n]? with
  | none => exact .inl ⟨row, (lockAt_succ_of_none he key).trans held, rfl, id⟩
  | some e =>
    have step := lockAt_step (s := s) he key
    rw [held] at step
    rcases step.of_held with next | ⟨free, removes⟩
    · exact .inl next
    · exact .inr ⟨e, row, he, held, removes, free⟩

lemma lockAt_succ_of_free (free : s.lockAt j n key = none) :
    s.lockAt j (n + 1) key = none ∨ ∃ i lockId, s.Inserts j n i key lockId := by
  cases he : j[n]? with
  | none => exact .inl ((lockAt_succ_of_none he key).trans free)
  | some e =>
    have step := lockAt_step (s := s) he key
    rw [free] at step
    rcases step.of_free with next | ⟨l, hc, rfl, -⟩
    · exact .inl next
    · obtain ⟨i, now, _⟩ := e
      obtain rfl : _ = Call.insertLock l := hc
      exact .inr ⟨i, l.lockId, .of_free he free⟩

lemma Stays.held (h : s.Stays j f t key) (before : f ≤ t) :
    ∃ row, s.lockAt j t key = some row := by
  obtain ⟨_, _, still⟩ := h
  obtain ⟨row, held, -⟩ := still t before le_rfl
  exact ⟨row, held⟩

lemma Stays.step {row row' : Lock} (h : s.Stays j f t key) (before : f ≤ t)
    (held : s.lockAt j t key = some row) (held' : s.lockAt j (t + 1) key = some row')
    (same : row'.unstamped = row.unstamped) : s.Stays j f (t + 1) key := by
  obtain ⟨first, hf, still⟩ := h
  obtain ⟨_, ht, sameFirst⟩ := still t before le_rfl
  obtain rfl := Option.some.inj (held.symm.trans ht)
  refine ⟨first, hf, fun u hu hu' => ?_⟩
  rcases Nat.lt_or_eq_of_le hu' with hlt | rfl
  · exact still u hu (Nat.le_of_lt_succ hlt)
  · exact ⟨row', held', same.trans sameFirst⟩

lemma stays_self {row : Lock} (h : s.lockAt j t key = some row) : s.Stays j t t key := by
  refine ⟨row, h, fun u hu hu' => ⟨row, ?_, rfl⟩⟩
  rwa [Nat.le_antisymm hu' hu]

lemma Stays.mono {t' : Nat} (h : s.Stays j f t key) (before : t' ≤ t) : s.Stays j f t' key := by
  obtain ⟨row, held, still⟩ := h
  exact ⟨row, held, fun u hu hu' => still u hu (hu'.trans before)⟩

lemma Stays.not_deletes (h : s.Stays j f t key) {d : Nat} (hd : f ≤ d) (hd' : d < t) :
    ¬ s.Deletes j d key := by
  rintro ⟨_, _, _, _, _, free⟩
  obtain ⟨_, _, still⟩ := h
  obtain ⟨row, held, -⟩ := still (d + 1) (hd.trans d.le_succ) hd'
  cases held.symm.trans free

lemma stays_or_deletes {row : Lock} (h : s.lockAt j f key = some row) (before : f ≤ t) :
    s.Stays j f t key ∨ ∃ d, f ≤ d ∧ d < t ∧ s.Stays j f d key ∧ s.Deletes j d key := by
  induction t, before using Nat.le_induction with
  | base => exact .inl (stays_self h)
  | succ t before ih =>
    rcases ih with stays | ⟨d, hf, hd, rest⟩
    · obtain ⟨row', held⟩ := stays.held before
      rcases lockAt_succ_of_held held with ⟨row'', held', same, -⟩ | deletes
      · exact .inl (stays.step before held held' same)
      · exact .inr ⟨t, before, t.lt_succ_self, stays, deletes⟩
    · exact .inr ⟨d, hf, hd.trans t.lt_succ_self, rest⟩

lemma stays_iff {row : Lock} (h : s.lockAt j f key = some row) (before : f ≤ t) :
    s.Stays j f t key ↔ ∀ d, f ≤ d → d < t → ¬ s.Deletes j d key := by
  constructor
  · exact fun stays d hd hd' => stays.not_deletes hd hd'
  · intro undeleted
    rcases stays_or_deletes h before with stays | ⟨d, hd, hd', -, deletes⟩
    · exact stays
    · exact absurd deletes (undeleted d hd hd')

lemma stays_or_inserted {row : Lock} (h : s.lockAt j t key = some row) (before : f ≤ t) :
    s.Stays j f t key ∨ ∃ m i lockId, f ≤ m ∧ m < t ∧ s.Inserts j m i key lockId ∧
      s.Stays j (m + 1) t key := by
  induction t, before using Nat.le_induction generalizing row with
  | base => exact .inl (stays_self h)
  | succ t before ih =>
    cases held : s.lockAt j t key with
    | some row' =>
      rcases lockAt_succ_of_held held with ⟨row'', h', same, -⟩ | ⟨_, _, _, _, _, free⟩
      · rcases ih held with stays | ⟨m, i, lockId, hf, hm, inserts, stays⟩
        · exact .inl (stays.step before held h' same)
        · refine .inr ⟨m, i, lockId, hf, hm.trans t.lt_succ_self, inserts, ?_⟩
          exact stays.step hm held h' same
      · cases h.symm.trans free
    | none =>
      -- whatever was inserted before is gone, so that this entry is the one
      rcases lockAt_succ_of_free held with free | ⟨i, lockId, inserts⟩
      · cases h.symm.trans free
      · exact .inr ⟨t, i, lockId, before, t.lt_succ_self, inserts, stays_self h⟩

lemma Stays.stamped {g : Nat} {row : Lock} (h : s.Stays j f t key) (hg : f ≤ g) (before : g ≤ t)
    (held : s.lockAt j g key = some row) (asked : row.revokeRequestedBy.isSome = true) :
    ∃ row', s.lockAt j t key = some row' ∧ row'.revokeRequestedBy.isSome = true := by
  induction t, before using Nat.le_induction with
  | base => exact ⟨row, held, asked⟩
  | succ t before ih =>
    obtain ⟨row₁, held₁, asked₁⟩ := ih (h.mono t.le_succ)
    rcases lockAt_succ_of_held held₁ with ⟨row₂, held₂, -, keeps⟩ | deletes
    · exact ⟨row₂, held₂, keeps asked₁⟩
    · exact absurd deletes (h.not_deletes (hg.trans before) t.lt_succ_self)

lemma Inserts.exchange (h : s.Inserts j m i key lockId) :
    ∃ e, j[m]? = some e ∧ e.session = i ∧ (e.exchange (s.instant j m)).inserts = true := by
  obtain ⟨now, l, he, rfl, rfl, free, -⟩ := h
  refine ⟨_, he, rfl, ?_⟩
  have held := Table.contains_eq_isSome (s.instant j m).locks l.key
  rw [show (s.instant j m).locks.find? l.key = none from free] at held
  simp only [Entry.exchange, Entry.reply, Store.apply, Store.insertLock]
  rw [if_neg (by simp [held])]
  rfl

lemma exists_inserted [DecidableEq ι] {l : NewLock} {row : Lock}
    (mem : ⟨.insertLock l, some row⟩ ∈ exchanges i s j) :
    ∃ m now, j[m]? = some ⟨i, now, .insertLock l⟩ ∧ s.lockAt j m l.key = none ∧
      row = l.toLock now := by
  obtain ⟨_, _, split⟩ := List.append_of_mem mem
  obtain ⟨m, e, he, own, hx, -⟩ := exchanges_split split
  obtain ⟨-, free, made⟩ := Entry.inserted hx
  exact ⟨m, e.now, Entry.eq_of_exchange own hx ▸ he, free, made⟩

lemma Inserts.unique [DecidableEq ι] {key' : LockKey} {lockId' : String}
    (once : (exchanges i s j).countP Exchange.inserts ≤ 1) (hm : s.Inserts j m i key lockId)
    (hn : s.Inserts j n i key' lockId') : m = n := by
  obtain ⟨e, he, own, hx⟩ := hm.exchange
  obtain ⟨e', he', own', hx'⟩ := hn.exchange
  exact exchanges_unique once he he' own own' hx hx'

lemma not_inserts [DecidableEq ι] (nothing : (exchanges i s j).countP Exchange.inserts = 0) :
    ¬ s.Inserts j m i key lockId := by
  intro inserts
  obtain ⟨e, he, own, hx⟩ := inserts.exchange
  exact List.countP_eq_zero.1 nothing _ (exchange_mem s he own) hx

end Journal

end Store

end LockRegistry
